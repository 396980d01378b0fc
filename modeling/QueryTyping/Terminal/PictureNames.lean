/-!
# Names of pictures

The names that stand for pictures when they are written between colons: of single
pictures, of flags, and of the pictures that come in several skin tones.
-/

namespace QueryTyping.Terminal

namespace Picture

/-- Symbols, by their code points. -/
def symbolNames : List (List Nat × String) := [
  ([0x23, 0x20e3], "keycap_number_sign"), ([0x23, 0xfe0f, 0x20e3], "keycap_#"),
  ([0x2a, 0x20e3], "keycap_asterisk"), ([0x2a, 0xfe0f, 0x20e3], "keycap_*"),
  ([0x30, 0x20e3], "keycap_digit_zero"), ([0x30, 0xfe0f, 0x20e3], "keycap_0 zero"),
  ([0x31, 0x20e3], "keycap_digit_one"), ([0x31, 0xfe0f, 0x20e3], "keycap_1 one"),
  ([0x32, 0x20e3], "keycap_digit_two"), ([0x32, 0xfe0f, 0x20e3], "keycap_2 two"),
  ([0x33, 0x20e3], "keycap_digit_three"), ([0x33, 0xfe0f, 0x20e3], "keycap_3 three"),
  ([0x34, 0x20e3], "keycap_digit_four"), ([0x34, 0xfe0f, 0x20e3], "four keycap_4"),
  ([0x35, 0x20e3], "keycap_digit_five"), ([0x35, 0xfe0f, 0x20e3], "five keycap_5"),
  ([0x36, 0x20e3], "keycap_digit_six"), ([0x36, 0xfe0f, 0x20e3], "keycap_6 six"),
  ([0x37, 0x20e3], "keycap_digit_seven"), ([0x37, 0xfe0f, 0x20e3], "keycap_7 seven"),
  ([0x38, 0x20e3], "keycap_digit_eight"), ([0x38, 0xfe0f, 0x20e3], "eight keycap_8"),
  ([0x39, 0x20e3], "keycap_digit_nine"), ([0x39, 0xfe0f, 0x20e3], "keycap_9 nine"),
  ([0xa9], "copyright"), ([0xae], "registered"), ([0x203c], "bangbang double_exclamation_mark"),
  ([0x2049], "exclamation_question_mark interrobang"), ([0x2122], "tm trade_mark"),
  ([0x2139], "information information_source"), ([0x2194], "left-right_arrow left_right_arrow"),
  ([0x2195], "arrow_up_down up-down_arrow"), ([0x2196], "arrow_upper_left up-left_arrow"),
  ([0x2197], "arrow_upper_right up-right_arrow"), ([0x2198], "arrow_lower_right down-right_arrow"),
  ([0x2199], "arrow_lower_left down-left_arrow"),
  ([0x21a9], "leftwards_arrow_with_hook right_arrow_curving_left"),
  ([0x21aa], "arrow_right_hook left_arrow_curving_right"), ([0x231a], "watch"),
  ([0x231b], "hourglass hourglass_done"), ([0x2328], "keyboard"), ([0x2388], "helm_symbol"),
  ([0x23cf], "eject_button eject_symbol"), ([0x23e9], "fast-forward_button fast_forward"),
  ([0x23ea], "fast_reverse_button rewind"), ([0x23eb], "arrow_double_up fast_up_button"),
  ([0x23ec], "arrow_double_down fast_down_button"),
  ([0x23ed], "black_right__pointing_double_triangle_with_vertical_bar next_track_button"),
  ([0x23ee], "black_left__pointing_double_triangle_with_vertical_bar last_track_button"),
  ([0x23ef], "black_right__pointing_triangle_with_double_vertical_bar play_or_pause_button"),
  ([0x23f0], "alarm_clock"), ([0x23f1], "stopwatch"), ([0x23f2], "timer_clock"),
  ([0x23f3], "hourglass_flowing_sand hourglass_not_done"),
  ([0x23f8], "double_vertical_bar pause_button"), ([0x23f9], "black_square_for_stop stop_button"),
  ([0x23fa], "black_circle_for_record record_button"), ([0x24c2], "circled_m m"),
  ([0x25aa], "black_small_square"), ([0x25ab], "white_small_square"),
  ([0x25b6], "arrow_forward play_button"), ([0x25c0], "arrow_backward reverse_button"),
  ([0x25fb], "white_medium_square"), ([0x25fc], "black_medium_square"),
  ([0x25fd], "white_medium-small_square white_medium_small_square"),
  ([0x25fe], "black_medium-small_square black_medium_small_square"), ([0x2600], "sun sunny"),
  ([0x2601], "cloud"), ([0x2602], "umbrella"), ([0x2603], "snowman"), ([0x2604], "comet"),
  ([0x260e], "phone telephone"), ([0x2611], "ballot_box_with_check"),
  ([0x2614], "umbrella_with_rain_drops"), ([0x2615], "coffee hot_beverage"),
  ([0x2618], "shamrock"), ([0x261d], "index_pointing_up point_up"),
  ([0x2620], "skull_and_crossbones"), ([0x2622], "radioactive radioactive_sign"),
  ([0x2623], "biohazard biohazard_sign"), ([0x2626], "orthodox_cross"),
  ([0x262a], "star_and_crescent"), ([0x262e], "peace_symbol"), ([0x262f], "yin_yang"),
  ([0x2638], "wheel_of_dharma"), ([0x2639], "frowning_face white_frowning_face"),
  ([0x263a], "relaxed smiling_face"), ([0x2640], "female_sign"), ([0x2642], "male_sign"),
  ([0x2648], "aries"), ([0x2649], "taurus"), ([0x264a], "gemini"), ([0x264b], "cancer"),
  ([0x264c], "leo"), ([0x264d], "virgo"), ([0x264e], "libra"), ([0x264f], "scorpio scorpius"),
  ([0x2650], "sagittarius"), ([0x2651], "capricorn"), ([0x2652], "aquarius"), ([0x2653], "pisces"),
  ([0x265f], "chess_pawn"), ([0x2660], "spade_suit spades"), ([0x2663], "club_suit clubs"),
  ([0x2665], "heart_suit hearts"), ([0x2666], "diamond_suit diamonds"),
  ([0x2668], "hot_springs hotsprings"), ([0x267b], "recycle recycling_symbol"),
  ([0x267e], "infinity"), ([0x267f], "wheelchair wheelchair_symbol"),
  ([0x2692], "hammer_and_pick"), ([0x2693], "anchor"), ([0x2694], "crossed_swords"),
  ([0x2695], "medical_symbol"), ([0x2696], "balance_scale scales"), ([0x2697], "alembic"),
  ([0x2699], "gear"), ([0x269b], "atom_symbol"), ([0x269c], "fleur-de-lis fleur__de__lis"),
  ([0x26a0], "warning"), ([0x26a1], "high_voltage zap"), ([0x26aa], "white_circle"),
  ([0x26ab], "black_circle"), ([0x26b0], "coffin"), ([0x26b1], "funeral_urn"),
  ([0x26bd], "soccer soccer_ball"), ([0x26be], "baseball"), ([0x26c4], "snowman_without_snow"),
  ([0x26c5], "partly_sunny sun_behind_cloud"),
  ([0x26c8], "cloud_with_lightning_and_rain thunder_cloud_and_rain"), ([0x26ce], "ophiuchus"),
  ([0x26cf], "pick"), ([0x26d1], "helmet_with_white_cross rescue_worker’s_helmet"),
  ([0x26d3], "chains"), ([0x26d4], "no_entry"), ([0x26e9], "shinto_shrine"), ([0x26ea], "church"),
  ([0x26f0], "mountain"), ([0x26f1], "umbrella_on_ground"), ([0x26f2], "fountain"),
  ([0x26f3], "flag_in_hole golf"), ([0x26f4], "ferry"), ([0x26f5], "boat sailboat"),
  ([0x26f7], "skier"), ([0x26f8], "ice_skate"),
  ([0x26f9], "person_bouncing_ball person_with_ball"),
  ([0x26f9, 0xfe0f, 0x200d, 0x2640, 0xfe0f], "woman_bouncing_ball"),
  ([0x26f9, 0xfe0f, 0x200d, 0x2642, 0xfe0f], "man_bouncing_ball"), ([0x26fa], "tent"),
  ([0x26fd], "fuel_pump fuelpump"), ([0x2702], "scissors"),
  ([0x2705], "white_check_mark white_heavy_check_mark"), ([0x2708], "airplane"),
  ([0x2709], "email envelope"), ([0x270a], "fist raised_fist"), ([0x270b], "hand raised_hand"),
  ([0x270c], "v victory_hand"), ([0x270d], "writing_hand"), ([0x270f], "pencil2"),
  ([0x2712], "black_nib"), ([0x2714], "heavy_check_mark"), ([0x2716], "heavy_multiplication_x"),
  ([0x271d], "latin_cross"), ([0x2721], "star_of_david"), ([0x2728], "sparkles"),
  ([0x2733], "eight-spoked_asterisk eight_spoked_asterisk"),
  ([0x2734], "eight-pointed_star eight_pointed_black_star"), ([0x2744], "snowflake"),
  ([0x2747], "sparkle"), ([0x274c], "cross_mark x"),
  ([0x274e], "cross_mark_button negative_squared_cross_mark"),
  ([0x2753], "question question_mark"), ([0x2754], "grey_question white_question_mark"),
  ([0x2755], "grey_exclamation white_exclamation_mark"),
  ([0x2757], "exclamation exclamation_mark heavy_exclamation_mark"),
  ([0x2763], "heavy_heart_exclamation heavy_heart_exclamation_mark_ornament"),
  ([0x2764], "heart red_heart"), ([0x2795], "heavy_plus_sign"), ([0x2796], "heavy_minus_sign"),
  ([0x2797], "heavy_division_sign"), ([0x27a1], "arrow_right right_arrow"),
  ([0x27b0], "curly_loop"), ([0x27bf], "double_curly_loop loop"),
  ([0x2934], "arrow_heading_up right_arrow_curving_up"),
  ([0x2935], "arrow_heading_down right_arrow_curving_down"), ([0x2b05], "arrow_left left_arrow"),
  ([0x2b06], "arrow_up up_arrow"), ([0x2b07], "arrow_down down_arrow"),
  ([0x2b1b], "black_large_square"), ([0x2b1c], "white_large_square"),
  ([0x2b50], "star white_medium_star"), ([0x2b55], "heavy_large_circle o"),
  ([0x3030], "wavy_dash"), ([0x303d], "part_alternation_mark"),
  ([0x3297], "congratulations japanese_congratulations_button"),
  ([0x3299], "japanese_secret_button secret")]

/-- Letters, flags, weather, plants, food and sports, by their code points. -/
def landscapeNames : List (List Nat × String) := [
  ([0x1f004], "mahjong mahjong_red_dragon"), ([0x1f0cf], "black_joker joker"),
  ([0x1f170], "a a_button_(blood_type)"), ([0x1f171], "b b_button_(blood_type)"),
  ([0x1f17e], "o2 o_button_(blood_type)"), ([0x1f17f], "p_button parking"),
  ([0x1f18e], "ab ab_button_(blood_type)"), ([0x1f191], "cl cl_button"),
  ([0x1f192], "cool cool_button"), ([0x1f193], "free free_button"), ([0x1f194], "id id_button"),
  ([0x1f195], "new new_button"), ([0x1f196], "ng ng_button"), ([0x1f197], "ok ok_button"),
  ([0x1f198], "sos sos_button"), ([0x1f199], "up up!_button"), ([0x1f19a], "vs vs_button"),
  ([0x1f1e6], "regional_indicator_a regional_indicator_symbol_letter_a"),
  ([0x1f1e7], "regional_indicator_b regional_indicator_symbol_letter_b"),
  ([0x1f1e8], "regional_indicator_c regional_indicator_symbol_letter_c"),
  ([0x1f1e8, 0x1f1e8], "cocos_(keeling)_islands flag_for_cocos__islands"),
  ([0x1f1e8, 0x1f1e9], "congo_-_kinshasa flag_for_congo____kinshasa"),
  ([0x1f1e8, 0x1f1ec], "congo_-_brazzaville flag_for_congo____brazzaville"),
  ([0x1f1e8, 0x1f1ff], "czechia flag_for_czech_republic"),
  ([0x1f1e9], "regional_indicator_d regional_indicator_symbol_letter_d"),
  ([0x1f1ea], "regional_indicator_e regional_indicator_symbol_letter_e"),
  ([0x1f1eb], "regional_indicator_f regional_indicator_symbol_letter_f"),
  ([0x1f1ec], "regional_indicator_g regional_indicator_symbol_letter_g"),
  ([0x1f1ec, 0x1f1fc], "flag_for_guinea__bissau guinea-bissau"),
  ([0x1f1ed], "regional_indicator_h regional_indicator_symbol_letter_h"),
  ([0x1f1ed, 0x1f1f0], "flag_for_hong_kong hong_kong_sar_china"),
  ([0x1f1ee], "regional_indicator_i regional_indicator_symbol_letter_i"),
  ([0x1f1ef], "regional_indicator_j regional_indicator_symbol_letter_j"),
  ([0x1f1ef, 0x1f1f5], "flag_for_japan"),
  ([0x1f1f0], "regional_indicator_k regional_indicator_symbol_letter_k"),
  ([0x1f1f1], "regional_indicator_l regional_indicator_symbol_letter_l"),
  ([0x1f1f2], "regional_indicator_m regional_indicator_symbol_letter_m"),
  ([0x1f1f2, 0x1f1f2], "flag_for_myanmar myanmar_(burma)"),
  ([0x1f1f2, 0x1f1f4], "flag_for_macau macau_sar_china"),
  ([0x1f1f3], "regional_indicator_n regional_indicator_symbol_letter_n"),
  ([0x1f1f4], "regional_indicator_o regional_indicator_symbol_letter_o"),
  ([0x1f1f5], "regional_indicator_p regional_indicator_symbol_letter_p"),
  ([0x1f1f6], "regional_indicator_q regional_indicator_symbol_letter_q"),
  ([0x1f1f7], "regional_indicator_r regional_indicator_symbol_letter_r"),
  ([0x1f1f8], "regional_indicator_s regional_indicator_symbol_letter_s"),
  ([0x1f1f9], "regional_indicator_symbol_letter_t regional_indicator_t"),
  ([0x1f1f9, 0x1f1f1], "flag_for_timor__leste timor-leste"),
  ([0x1f1f9, 0x1f1f7], "flag_for_turkey"),
  ([0x1f1fa], "regional_indicator_symbol_letter_u regional_indicator_u"),
  ([0x1f1fa, 0x1f1f3], "united_nations"),
  ([0x1f1fb], "regional_indicator_symbol_letter_v regional_indicator_v"),
  ([0x1f1fc], "regional_indicator_symbol_letter_w regional_indicator_w"),
  ([0x1f1fd], "regional_indicator_symbol_letter_x regional_indicator_x"),
  ([0x1f1fe], "regional_indicator_symbol_letter_y regional_indicator_y"),
  ([0x1f1ff], "regional_indicator_symbol_letter_z regional_indicator_z"),
  ([0x1f201], "japanese_here_button koko"), ([0x1f202], "japanese_service_charge_button sa"),
  ([0x1f21a], "japanese_free_of_charge_button u7121"),
  ([0x1f22f], "japanese_reserved_button u6307"), ([0x1f232], "japanese_prohibited_button u7981"),
  ([0x1f233], "japanese_vacancy_button u7a7a"), ([0x1f234], "japanese_passing_grade_button u5408"),
  ([0x1f235], "japanese_no_vacancy_button u6e80"),
  ([0x1f236], "japanese_not_free_of_charge_button u6709"),
  ([0x1f237], "japanese_monthly_amount_button u6708"),
  ([0x1f238], "japanese_application_button u7533"), ([0x1f239], "japanese_discount_button u5272"),
  ([0x1f23a], "japanese_open_for_business_button u55b6"),
  ([0x1f250], "ideograph_advantage japanese_bargain_button"),
  ([0x1f251], "accept japanese_acceptable_button"), ([0x1f300], "cyclone"), ([0x1f301], "foggy"),
  ([0x1f302], "closed_umbrella"), ([0x1f303], "night_with_stars"),
  ([0x1f304], "sunrise_over_mountains"), ([0x1f305], "sunrise"),
  ([0x1f306], "city_sunset cityscape_at_dusk"), ([0x1f307], "city_sunrise sunset"),
  ([0x1f308], "rainbow"), ([0x1f309], "bridge_at_night"), ([0x1f30a], "ocean water_wave"),
  ([0x1f30b], "volcano"), ([0x1f30c], "milky_way"),
  ([0x1f30d], "earth_africa globe_showing_europe-africa"),
  ([0x1f30e], "earth_americas globe_showing_americas"),
  ([0x1f30f], "earth_asia globe_showing_asia-australia"), ([0x1f310], "globe_with_meridians"),
  ([0x1f311], "new_moon"), ([0x1f312], "waxing_crescent_moon"), ([0x1f313], "first_quarter_moon"),
  ([0x1f314], "moon waxing_gibbous_moon"), ([0x1f315], "full_moon"),
  ([0x1f316], "waning_gibbous_moon"), ([0x1f317], "last_quarter_moon"),
  ([0x1f318], "waning_crescent_moon"), ([0x1f319], "crescent_moon"),
  ([0x1f31a], "new_moon_face new_moon_with_face"),
  ([0x1f31b], "first_quarter_moon_face first_quarter_moon_with_face"),
  ([0x1f31c], "last_quarter_moon_face last_quarter_moon_with_face"),
  ([0x1f31d], "full_moon_face full_moon_with_face"), ([0x1f31e], "sun_with_face"),
  ([0x1f31f], "glowing_star star2"), ([0x1f320], "shooting_star stars"),
  ([0x1f321], "thermometer"), ([0x1f324], "sun_behind_small_cloud white_sun_with_small_cloud"),
  ([0x1f325], "sun_behind_large_cloud white_sun_behind_cloud"),
  ([0x1f326], "sun_behind_rain_cloud white_sun_behind_cloud_with_rain"),
  ([0x1f327], "cloud_with_rain"), ([0x1f328], "cloud_with_snow"),
  ([0x1f329], "cloud_with_lightning"), ([0x1f32a], "cloud_with_tornado tornado"),
  ([0x1f32b], "fog"), ([0x1f32c], "wind_blowing_face wind_face"), ([0x1f32d], "hot_dog"),
  ([0x1f32e], "taco"), ([0x1f32f], "burrito"), ([0x1f330], "chestnut"), ([0x1f331], "seedling"),
  ([0x1f332], "evergreen_tree"), ([0x1f333], "deciduous_tree"), ([0x1f334], "palm_tree"),
  ([0x1f335], "cactus"), ([0x1f336], "hot_pepper"), ([0x1f337], "tulip"),
  ([0x1f338], "cherry_blossom"), ([0x1f339], "rose"), ([0x1f33a], "hibiscus"),
  ([0x1f33b], "sunflower"), ([0x1f33c], "blossom"), ([0x1f33d], "corn ear_of_corn"),
  ([0x1f33e], "ear_of_rice sheaf_of_rice"), ([0x1f33f], "herb"), ([0x1f340], "four_leaf_clover"),
  ([0x1f341], "maple_leaf"), ([0x1f342], "fallen_leaf"),
  ([0x1f343], "leaf_fluttering_in_wind leaves"), ([0x1f344], "mushroom"), ([0x1f345], "tomato"),
  ([0x1f346], "eggplant"), ([0x1f347], "grapes"), ([0x1f348], "melon"), ([0x1f349], "watermelon"),
  ([0x1f34a], "tangerine"), ([0x1f34b], "lemon"), ([0x1f34c], "banana"), ([0x1f34d], "pineapple"),
  ([0x1f34e], "apple red_apple"), ([0x1f34f], "green_apple"), ([0x1f350], "pear"),
  ([0x1f351], "peach"), ([0x1f352], "cherries"), ([0x1f353], "strawberry"),
  ([0x1f354], "hamburger"), ([0x1f355], "pizza"), ([0x1f356], "meat_on_bone"),
  ([0x1f357], "poultry_leg"), ([0x1f358], "rice_cracker"), ([0x1f359], "rice_ball"),
  ([0x1f35a], "cooked_rice rice"), ([0x1f35b], "curry curry_rice"),
  ([0x1f35c], "ramen steaming_bowl"), ([0x1f35d], "spaghetti"), ([0x1f35e], "bread"),
  ([0x1f35f], "french_fries fries"), ([0x1f360], "roasted_sweet_potato sweet_potato"),
  ([0x1f361], "dango"), ([0x1f362], "oden"), ([0x1f363], "sushi"), ([0x1f364], "fried_shrimp"),
  ([0x1f365], "fish_cake fish_cake_with_swirl"), ([0x1f366], "icecream soft_ice_cream"),
  ([0x1f367], "shaved_ice"), ([0x1f368], "ice_cream"), ([0x1f369], "doughnut"),
  ([0x1f36a], "cookie"), ([0x1f36b], "chocolate_bar"), ([0x1f36c], "candy"),
  ([0x1f36d], "lollipop"), ([0x1f36e], "custard"), ([0x1f36f], "honey_pot"),
  ([0x1f370], "cake shortcake"), ([0x1f371], "bento bento_box"), ([0x1f372], "pot_of_food stew"),
  ([0x1f373], "cooking egg"), ([0x1f374], "fork_and_knife"),
  ([0x1f375], "tea teacup_without_handle"), ([0x1f376], "sake"), ([0x1f377], "wine_glass"),
  ([0x1f378], "cocktail cocktail_glass"), ([0x1f379], "tropical_drink"),
  ([0x1f37a], "beer beer_mug"), ([0x1f37b], "beers clinking_beer_mugs"),
  ([0x1f37c], "baby_bottle"), ([0x1f37d], "fork_and_knife_with_plate"),
  ([0x1f37e], "bottle_with_popping_cork"), ([0x1f37f], "popcorn"), ([0x1f380], "ribbon"),
  ([0x1f381], "gift wrapped_gift"), ([0x1f382], "birthday birthday_cake"),
  ([0x1f383], "jack-o-lantern jack_o_lantern"), ([0x1f384], "christmas_tree"),
  ([0x1f385], "santa santa_claus"), ([0x1f386], "fireworks"), ([0x1f387], "sparkler"),
  ([0x1f388], "balloon"), ([0x1f389], "party_popper tada"), ([0x1f38a], "confetti_ball"),
  ([0x1f38b], "tanabata_tree"), ([0x1f38c], "crossed_flags"),
  ([0x1f38d], "bamboo pine_decoration"), ([0x1f38e], "dolls japanese_dolls"),
  ([0x1f38f], "carp_streamer flags"), ([0x1f390], "wind_chime"),
  ([0x1f391], "moon_viewing_ceremony rice_scene"), ([0x1f392], "school_backpack school_satchel"),
  ([0x1f393], "graduation_cap mortar_board"), ([0x1f396], "military_medal"),
  ([0x1f397], "reminder_ribbon"), ([0x1f399], "studio_microphone"), ([0x1f39a], "level_slider"),
  ([0x1f39b], "control_knobs"), ([0x1f39e], "film_frames"), ([0x1f39f], "admission_tickets"),
  ([0x1f3a0], "carousel_horse"), ([0x1f3a1], "ferris_wheel"), ([0x1f3a2], "roller_coaster"),
  ([0x1f3a3], "fishing_pole fishing_pole_and_fish"), ([0x1f3a4], "microphone"),
  ([0x1f3a5], "movie_camera"), ([0x1f3a6], "cinema"), ([0x1f3a7], "headphone headphones"),
  ([0x1f3a8], "art artist_palette"), ([0x1f3a9], "top_hat tophat"), ([0x1f3aa], "circus_tent"),
  ([0x1f3ab], "ticket"), ([0x1f3ac], "clapper clapper_board"), ([0x1f3ad], "performing_arts"),
  ([0x1f3ae], "video_game"), ([0x1f3af], "dart direct_hit"), ([0x1f3b0], "slot_machine"),
  ([0x1f3b1], "8ball pool_8_ball"), ([0x1f3b2], "game_die"), ([0x1f3b3], "bowling"),
  ([0x1f3b4], "flower_playing_cards"), ([0x1f3b5], "musical_note"),
  ([0x1f3b6], "musical_notes notes"), ([0x1f3b7], "saxophone"), ([0x1f3b8], "guitar"),
  ([0x1f3b9], "musical_keyboard"), ([0x1f3ba], "trumpet"), ([0x1f3bb], "violin"),
  ([0x1f3bc], "musical_score"), ([0x1f3bd], "running_shirt running_shirt_with_sash"),
  ([0x1f3be], "tennis"), ([0x1f3bf], "ski skis"), ([0x1f3c0], "basketball"),
  ([0x1f3c1], "checkered_flag chequered_flag"), ([0x1f3c2], "snowboarder"),
  ([0x1f3c3], "person_running runner running"),
  ([0x1f3c3, 0x200d, 0x2640, 0xfe0f], "woman_running"),
  ([0x1f3c3, 0x200d, 0x2642, 0xfe0f], "man_running"), ([0x1f3c4], "person_surfing surfer"),
  ([0x1f3c4, 0x200d, 0x2640, 0xfe0f], "woman_surfing"),
  ([0x1f3c4, 0x200d, 0x2642, 0xfe0f], "man_surfing"), ([0x1f3c5], "sports_medal"),
  ([0x1f3c6], "trophy"), ([0x1f3c7], "horse_racing"), ([0x1f3c8], "american_football football"),
  ([0x1f3c9], "rugby_football"), ([0x1f3ca], "person_swimming swimmer"),
  ([0x1f3ca, 0x200d, 0x2640, 0xfe0f], "woman_swimming"),
  ([0x1f3ca, 0x200d, 0x2642, 0xfe0f], "man_swimming"),
  ([0x1f3cb], "person_lifting_weights weight_lifter"),
  ([0x1f3cb, 0xfe0f, 0x200d, 0x2640, 0xfe0f], "woman_lifting_weights"),
  ([0x1f3cb, 0xfe0f, 0x200d, 0x2642, 0xfe0f], "man_lifting_weights"),
  ([0x1f3cc], "golfer person_golfing"),
  ([0x1f3cc, 0xfe0f, 0x200d, 0x2640, 0xfe0f], "woman_golfing"),
  ([0x1f3cc, 0xfe0f, 0x200d, 0x2642, 0xfe0f], "man_golfing"),
  ([0x1f3cd], "motorcycle racing_motorcycle"), ([0x1f3ce], "racing_car"),
  ([0x1f3cf], "cricket_bat_and_ball cricket_game"), ([0x1f3d0], "volleyball"),
  ([0x1f3d1], "field_hockey field_hockey_stick_and_ball"),
  ([0x1f3d2], "ice_hockey ice_hockey_stick_and_puck"),
  ([0x1f3d3], "ping_pong table_tennis_paddle_and_ball"),
  ([0x1f3d4], "snow-capped_mountain snow_capped_mountain"), ([0x1f3d5], "camping"),
  ([0x1f3d6], "beach_with_umbrella"), ([0x1f3d7], "building_construction"),
  ([0x1f3d8], "house_buildings houses"), ([0x1f3d9], "cityscape"),
  ([0x1f3da], "derelict_house derelict_house_building"), ([0x1f3db], "classical_building"),
  ([0x1f3dc], "desert"), ([0x1f3dd], "desert_island"), ([0x1f3de], "national_park"),
  ([0x1f3df], "stadium"), ([0x1f3e0], "house"), ([0x1f3e1], "house_with_garden"),
  ([0x1f3e2], "office office_building"), ([0x1f3e3], "japanese_post_office post_office"),
  ([0x1f3e4], "european_post_office"), ([0x1f3e5], "hospital"), ([0x1f3e6], "bank"),
  ([0x1f3e7], "atm atm_sign"), ([0x1f3e8], "hotel"), ([0x1f3e9], "love_hotel"),
  ([0x1f3ea], "convenience_store"), ([0x1f3eb], "school"), ([0x1f3ec], "department_store"),
  ([0x1f3ed], "factory"), ([0x1f3ee], "izakaya_lantern lantern red_paper_lantern"),
  ([0x1f3ef], "japanese_castle"), ([0x1f3f0], "castle european_castle"),
  ([0x1f3f3], "waving_white_flag white_flag"),
  ([0x1f3f3, 0xfe0f, 0x200d, 0x1f308], "rainbow_flag"),
  ([0x1f3f4], "black_flag waving_black_flag"), ([0x1f3f4, 0x200d, 0x2620, 0xfe0f], "pirate_flag"),
  ([0x1f3f4, 0xe0067, 0xe0062, 0xe0065, 0xe006e, 0xe0067, 0xe007f], "england"),
  ([0x1f3f4, 0xe0067, 0xe0062, 0xe0073, 0xe0063, 0xe0074, 0xe007f], "scotland"),
  ([0x1f3f4, 0xe0067, 0xe0062, 0xe0077, 0xe006c, 0xe0073, 0xe007f], "wales"),
  ([0x1f3f5], "rosette"), ([0x1f3f7], "label"),
  ([0x1f3f8], "badminton badminton_racquet_and_shuttlecock"), ([0x1f3f9], "bow_and_arrow"),
  ([0x1f3fa], "amphora"), ([0x1f3fb], "emoji_modifier_fitzpatrick_type__1__2 light_skin_tone"),
  ([0x1f3fc], "emoji_modifier_fitzpatrick_type__3 medium_light_skin_tone"),
  ([0x1f3fd], "emoji_modifier_fitzpatrick_type__4 medium_skin_tone"),
  ([0x1f3fe], "emoji_modifier_fitzpatrick_type__5 medium_dark_skin_tone"),
  ([0x1f3ff], "dark_skin_tone emoji_modifier_fitzpatrick_type__6")]

/-- Animals, people and what they wear, by their code points. -/
def creatureNames : List (List Nat × String) := [
  ([0x1f400], "rat"), ([0x1f401], "mouse2"), ([0x1f402], "ox"), ([0x1f403], "water_buffalo"),
  ([0x1f404], "cow2"), ([0x1f405], "tiger2"), ([0x1f406], "leopard"), ([0x1f407], "rabbit2"),
  ([0x1f408], "cat2"), ([0x1f409], "dragon"), ([0x1f40a], "crocodile"), ([0x1f40b], "whale2"),
  ([0x1f40c], "snail"), ([0x1f40d], "snake"), ([0x1f40e], "racehorse"), ([0x1f40f], "ram"),
  ([0x1f410], "goat"), ([0x1f411], "ewe sheep"), ([0x1f412], "monkey"), ([0x1f413], "rooster"),
  ([0x1f414], "chicken"), ([0x1f415], "dog2"), ([0x1f415, 0x200d, 0x1f9ba], "service_dog"),
  ([0x1f416], "pig2"), ([0x1f417], "boar"), ([0x1f418], "elephant"), ([0x1f419], "octopus"),
  ([0x1f41a], "shell spiral_shell"), ([0x1f41b], "bug"), ([0x1f41c], "ant"),
  ([0x1f41d], "bee honeybee"), ([0x1f41e], "beetle lady_beetle"), ([0x1f41f], "fish"),
  ([0x1f420], "tropical_fish"), ([0x1f421], "blowfish"), ([0x1f422], "turtle"),
  ([0x1f423], "hatching_chick"), ([0x1f424], "baby_chick"),
  ([0x1f425], "front-facing_baby_chick hatched_chick"), ([0x1f426], "bird"),
  ([0x1f427], "penguin"), ([0x1f428], "koala"), ([0x1f429], "poodle"),
  ([0x1f42a], "dromedary_camel"), ([0x1f42b], "camel two-hump_camel"),
  ([0x1f42c], "dolphin flipper"), ([0x1f42d], "mouse mouse_face"), ([0x1f42e], "cow cow_face"),
  ([0x1f42f], "tiger tiger_face"), ([0x1f430], "rabbit rabbit_face"), ([0x1f431], "cat cat_face"),
  ([0x1f432], "dragon_face"), ([0x1f433], "spouting_whale whale"), ([0x1f434], "horse horse_face"),
  ([0x1f435], "monkey_face"), ([0x1f436], "dog dog_face"), ([0x1f437], "pig pig_face"),
  ([0x1f438], "frog frog_face"), ([0x1f439], "hamster hamster_face"),
  ([0x1f43a], "wolf wolf_face"), ([0x1f43b], "bear bear_face"), ([0x1f43c], "panda_face"),
  ([0x1f43d], "pig_nose"), ([0x1f43e], "feet paw_prints"), ([0x1f43f], "chipmunk"),
  ([0x1f440], "eyes"), ([0x1f441], "eye"),
  ([0x1f441, 0xfe0f, 0x200d, 0x1f5e8, 0xfe0f], "eye_in_speech_bubble"), ([0x1f442], "ear"),
  ([0x1f443], "nose"), ([0x1f444], "lips mouth"), ([0x1f445], "tongue"),
  ([0x1f446], "backhand_index_pointing_up point_up_2"),
  ([0x1f447], "backhand_index_pointing_down point_down"),
  ([0x1f448], "backhand_index_pointing_left point_left"),
  ([0x1f449], "backhand_index_pointing_right point_right"),
  ([0x1f44a], "facepunch oncoming_fist punch"), ([0x1f44b], "wave waving_hand"),
  ([0x1f44c], "ok_hand"), ([0x1f44d], "+1 thumbs_up thumbsup"),
  ([0x1f44e], "-1 __1 thumbs_down thumbsdown"), ([0x1f44f], "clap clapping_hands"),
  ([0x1f450], "open_hands"), ([0x1f451], "crown"), ([0x1f452], "womans_hat woman’s_hat"),
  ([0x1f453], "eyeglasses glasses"), ([0x1f454], "necktie"), ([0x1f455], "shirt t-shirt tshirt"),
  ([0x1f456], "jeans"), ([0x1f457], "dress"), ([0x1f458], "kimono"), ([0x1f459], "bikini"),
  ([0x1f45a], "womans_clothes woman’s_clothes"), ([0x1f45b], "purse"), ([0x1f45c], "handbag"),
  ([0x1f45d], "clutch_bag pouch"), ([0x1f45e], "mans_shoe man’s_shoe shoe"),
  ([0x1f45f], "athletic_shoe running_shoe"), ([0x1f460], "high-heeled_shoe high_heel"),
  ([0x1f461], "sandal woman’s_sandal"), ([0x1f462], "boot woman’s_boot"),
  ([0x1f463], "footprints"), ([0x1f464], "bust_in_silhouette"), ([0x1f465], "busts_in_silhouette"),
  ([0x1f466], "boy"), ([0x1f467], "girl"), ([0x1f468], "man"),
  ([0x1f468, 0x200d, 0x2695, 0xfe0f], "man_health_worker"),
  ([0x1f468, 0x200d, 0x2696, 0xfe0f], "man_judge"),
  ([0x1f468, 0x200d, 0x2708, 0xfe0f], "man_pilot"),
  ([0x1f468, 0x200d, 0x2764, 0xfe0f, 0x200d, 0x1f468], "couple_with_heart_man_man"),
  ([0x1f468, 0x200d, 0x2764, 0xfe0f, 0x200d, 0x1f48b, 0x200d, 0x1f468], "kiss_man_man"),
  ([0x1f468, 0x200d, 0x1f33e], "man_farmer"), ([0x1f468, 0x200d, 0x1f373], "man_cook"),
  ([0x1f468, 0x200d, 0x1f393], "man_student"), ([0x1f468, 0x200d, 0x1f3a4], "man_singer"),
  ([0x1f468, 0x200d, 0x1f3a8], "man_artist"), ([0x1f468, 0x200d, 0x1f3eb], "man_teacher"),
  ([0x1f468, 0x200d, 0x1f3ed], "man_factory_worker"),
  ([0x1f468, 0x200d, 0x1f466], "family_man_boy"),
  ([0x1f468, 0x200d, 0x1f466, 0x200d, 0x1f466], "family_man_boy_boy"),
  ([0x1f468, 0x200d, 0x1f467], "family_man_girl"),
  ([0x1f468, 0x200d, 0x1f467, 0x200d, 0x1f466], "family_man_girl_boy"),
  ([0x1f468, 0x200d, 0x1f467, 0x200d, 0x1f467], "family_man_girl_girl"),
  ([0x1f468, 0x200d, 0x1f468, 0x200d, 0x1f466], "family_man_man_boy"),
  ([0x1f468, 0x200d, 0x1f468, 0x200d, 0x1f466, 0x200d, 0x1f466], "family_man_man_boy_boy"),
  ([0x1f468, 0x200d, 0x1f468, 0x200d, 0x1f467], "family_man_man_girl"),
  ([0x1f468, 0x200d, 0x1f468, 0x200d, 0x1f467, 0x200d, 0x1f466], "family_man_man_girl_boy"),
  ([0x1f468, 0x200d, 0x1f468, 0x200d, 0x1f467, 0x200d, 0x1f467], "family_man_man_girl_girl"),
  ([0x1f468, 0x200d, 0x1f469, 0x200d, 0x1f466], "family_man_woman_boy"),
  ([0x1f468, 0x200d, 0x1f469, 0x200d, 0x1f466, 0x200d, 0x1f466], "family_man_woman_boy_boy"),
  ([0x1f468, 0x200d, 0x1f469, 0x200d, 0x1f467], "family_man_woman_girl"),
  ([0x1f468, 0x200d, 0x1f469, 0x200d, 0x1f467, 0x200d, 0x1f466], "family_man_woman_girl_boy"),
  ([0x1f468, 0x200d, 0x1f469, 0x200d, 0x1f467, 0x200d, 0x1f467], "family_man_woman_girl_girl"),
  ([0x1f468, 0x200d, 0x1f4bb], "man_technologist"),
  ([0x1f468, 0x200d, 0x1f4bc], "man_office_worker"), ([0x1f468, 0x200d, 0x1f527], "man_mechanic"),
  ([0x1f468, 0x200d, 0x1f52c], "man_scientist"), ([0x1f468, 0x200d, 0x1f680], "man_astronaut"),
  ([0x1f468, 0x200d, 0x1f692], "man_firefighter"),
  ([0x1f468, 0x200d, 0x1f9af], "man_with_probing_cane"),
  ([0x1f468, 0x200d, 0x1f9b0], "red-haired_man"), ([0x1f468, 0x200d, 0x1f9b1], "curly-haired_man"),
  ([0x1f468, 0x200d, 0x1f9b2], "bald_man"), ([0x1f468, 0x200d, 0x1f9b3], "white-haired_man"),
  ([0x1f468, 0x200d, 0x1f9bc], "man_in_motorized_wheelchair"),
  ([0x1f468, 0x200d, 0x1f9bd], "man_in_manual_wheelchair"), ([0x1f469], "woman"),
  ([0x1f469, 0x200d, 0x2695, 0xfe0f], "woman_health_worker"),
  ([0x1f469, 0x200d, 0x2696, 0xfe0f], "woman_judge"),
  ([0x1f469, 0x200d, 0x2708, 0xfe0f], "woman_pilot"),
  ([0x1f469, 0x200d, 0x2764, 0xfe0f, 0x200d, 0x1f468], "couple_with_heart_woman_man"),
  ([0x1f469, 0x200d, 0x2764, 0xfe0f, 0x200d, 0x1f469], "couple_with_heart_woman_woman"),
  ([0x1f469, 0x200d, 0x2764, 0xfe0f, 0x200d, 0x1f48b, 0x200d, 0x1f468], "kiss_woman_man"),
  ([0x1f469, 0x200d, 0x2764, 0xfe0f, 0x200d, 0x1f48b, 0x200d, 0x1f469], "kiss_woman_woman"),
  ([0x1f469, 0x200d, 0x1f33e], "woman_farmer"), ([0x1f469, 0x200d, 0x1f373], "woman_cook"),
  ([0x1f469, 0x200d, 0x1f393], "woman_student"), ([0x1f469, 0x200d, 0x1f3a4], "woman_singer"),
  ([0x1f469, 0x200d, 0x1f3a8], "woman_artist"), ([0x1f469, 0x200d, 0x1f3eb], "woman_teacher"),
  ([0x1f469, 0x200d, 0x1f3ed], "woman_factory_worker"),
  ([0x1f469, 0x200d, 0x1f466], "family_woman_boy"),
  ([0x1f469, 0x200d, 0x1f466, 0x200d, 0x1f466], "family_woman_boy_boy"),
  ([0x1f469, 0x200d, 0x1f467], "family_woman_girl"),
  ([0x1f469, 0x200d, 0x1f467, 0x200d, 0x1f466], "family_woman_girl_boy"),
  ([0x1f469, 0x200d, 0x1f467, 0x200d, 0x1f467], "family_woman_girl_girl"),
  ([0x1f469, 0x200d, 0x1f469, 0x200d, 0x1f466], "family_woman_woman_boy"),
  ([0x1f469, 0x200d, 0x1f469, 0x200d, 0x1f466, 0x200d, 0x1f466], "family_woman_woman_boy_boy"),
  ([0x1f469, 0x200d, 0x1f469, 0x200d, 0x1f467], "family_woman_woman_girl"),
  ([0x1f469, 0x200d, 0x1f469, 0x200d, 0x1f467, 0x200d, 0x1f466], "family_woman_woman_girl_boy"),
  ([0x1f469, 0x200d, 0x1f469, 0x200d, 0x1f467, 0x200d, 0x1f467], "family_woman_woman_girl_girl"),
  ([0x1f469, 0x200d, 0x1f4bb], "woman_technologist"),
  ([0x1f469, 0x200d, 0x1f4bc], "woman_office_worker"),
  ([0x1f469, 0x200d, 0x1f527], "woman_mechanic"), ([0x1f469, 0x200d, 0x1f52c], "woman_scientist"),
  ([0x1f469, 0x200d, 0x1f680], "woman_astronaut"),
  ([0x1f469, 0x200d, 0x1f692], "woman_firefighter"),
  ([0x1f469, 0x200d, 0x1f9af], "woman_with_probing_cane"),
  ([0x1f469, 0x200d, 0x1f9b0], "red-haired_woman"),
  ([0x1f469, 0x200d, 0x1f9b1], "curly-haired_woman"), ([0x1f469, 0x200d, 0x1f9b2], "bald_woman"),
  ([0x1f469, 0x200d, 0x1f9b3], "white-haired_woman"),
  ([0x1f469, 0x200d, 0x1f9bc], "woman_in_motorized_wheelchair"),
  ([0x1f469, 0x200d, 0x1f9bd], "woman_in_manual_wheelchair"), ([0x1f46a], "family"),
  ([0x1f46b], "couple man_and_woman_holding_hands"), ([0x1f46c], "two_men_holding_hands"),
  ([0x1f46d], "two_women_holding_hands"), ([0x1f46e], "cop police_officer"),
  ([0x1f46e, 0x200d, 0x2640, 0xfe0f], "woman_police_officer"),
  ([0x1f46e, 0x200d, 0x2642, 0xfe0f], "man_police_officer"),
  ([0x1f46f], "dancers people_with_bunny_ears"),
  ([0x1f46f, 0x200d, 0x2640, 0xfe0f], "women_with_bunny_ears"),
  ([0x1f46f, 0x200d, 0x2642, 0xfe0f], "men_with_bunny_ears"), ([0x1f470], "bride_with_veil"),
  ([0x1f471], "blond-haired_person person_with_blond_hair"),
  ([0x1f471, 0x200d, 0x2640, 0xfe0f], "blond-haired_woman"),
  ([0x1f471, 0x200d, 0x2642, 0xfe0f], "blond-haired_man"),
  ([0x1f472], "man_with_chinese_cap man_with_gua_pi_mao"),
  ([0x1f473], "man_with_turban person_wearing_turban"),
  ([0x1f473, 0x200d, 0x2640, 0xfe0f], "woman_wearing_turban"),
  ([0x1f473, 0x200d, 0x2642, 0xfe0f], "man_wearing_turban"), ([0x1f474], "old_man older_man"),
  ([0x1f475], "old_woman older_woman"), ([0x1f476], "baby"), ([0x1f477], "construction_worker"),
  ([0x1f477, 0x200d, 0x2640, 0xfe0f], "woman_construction_worker"),
  ([0x1f477, 0x200d, 0x2642, 0xfe0f], "man_construction_worker"), ([0x1f478], "princess"),
  ([0x1f479], "japanese_ogre ogre"), ([0x1f47a], "goblin japanese_goblin"), ([0x1f47b], "ghost"),
  ([0x1f47c], "angel baby_angel"), ([0x1f47d], "alien"),
  ([0x1f47e], "alien_monster space_invader"), ([0x1f47f], "angry_face_with_horns imp"),
  ([0x1f480], "skull"), ([0x1f481], "information_desk_person person_tipping_hand"),
  ([0x1f481, 0x200d, 0x2640, 0xfe0f], "woman_tipping_hand"),
  ([0x1f481, 0x200d, 0x2642, 0xfe0f], "man_tipping_hand"), ([0x1f482], "guard guardsman"),
  ([0x1f482, 0x200d, 0x2640, 0xfe0f], "woman_guard"),
  ([0x1f482, 0x200d, 0x2642, 0xfe0f], "man_guard"), ([0x1f483], "dancer woman_dancing"),
  ([0x1f484], "lipstick"), ([0x1f485], "nail_care nail_polish"),
  ([0x1f486], "massage person_getting_massage"),
  ([0x1f486, 0x200d, 0x2640, 0xfe0f], "woman_getting_massage"),
  ([0x1f486, 0x200d, 0x2642, 0xfe0f], "man_getting_massage"),
  ([0x1f487], "haircut person_getting_haircut"),
  ([0x1f487, 0x200d, 0x2640, 0xfe0f], "woman_getting_haircut"),
  ([0x1f487, 0x200d, 0x2642, 0xfe0f], "man_getting_haircut"), ([0x1f488], "barber barber_pole"),
  ([0x1f489], "syringe"), ([0x1f48a], "pill"), ([0x1f48b], "kiss kiss_mark"),
  ([0x1f48c], "love_letter"), ([0x1f48d], "ring"), ([0x1f48e], "gem gem_stone"),
  ([0x1f48f], "couplekiss")]

/-- Objects and signs, by their code points. -/
def objectNames : List (List Nat × String) := [
  ([0x1f490], "bouquet"), ([0x1f491], "couple_with_heart"), ([0x1f492], "wedding"),
  ([0x1f493], "beating_heart heartbeat"), ([0x1f494], "broken_heart"), ([0x1f495], "two_hearts"),
  ([0x1f496], "sparkling_heart"), ([0x1f497], "growing_heart heartpulse"),
  ([0x1f498], "cupid heart_with_arrow"), ([0x1f499], "blue_heart"), ([0x1f49a], "green_heart"),
  ([0x1f49b], "yellow_heart"), ([0x1f49c], "purple_heart"),
  ([0x1f49d], "gift_heart heart_with_ribbon"), ([0x1f49e], "revolving_hearts"),
  ([0x1f49f], "heart_decoration"),
  ([0x1f4a0], "diamond_shape_with_a_dot_inside diamond_with_a_dot"),
  ([0x1f4a1], "bulb light_bulb"), ([0x1f4a2], "anger anger_symbol"), ([0x1f4a3], "bomb"),
  ([0x1f4a4], "zzz"), ([0x1f4a5], "boom collision"), ([0x1f4a6], "sweat_droplets sweat_drops"),
  ([0x1f4a7], "droplet"), ([0x1f4a8], "dash dashing_away"),
  ([0x1f4a9], "hankey pile_of_poo poop shit"), ([0x1f4aa], "flexed_biceps muscle"),
  ([0x1f4ab], "dizzy"), ([0x1f4ac], "speech_balloon"), ([0x1f4ad], "thought_balloon"),
  ([0x1f4ae], "white_flower"), ([0x1f4af], "100 hundred_points"),
  ([0x1f4b0], "money_bag moneybag"), ([0x1f4b1], "currency_exchange"),
  ([0x1f4b2], "heavy_dollar_sign"), ([0x1f4b3], "credit_card"), ([0x1f4b4], "yen yen_banknote"),
  ([0x1f4b5], "dollar dollar_banknote"), ([0x1f4b6], "euro euro_banknote"),
  ([0x1f4b7], "pound pound_banknote"), ([0x1f4b8], "money_with_wings"),
  ([0x1f4b9], "chart chart_increasing_with_yen"), ([0x1f4ba], "seat"),
  ([0x1f4bb], "computer laptop_computer"), ([0x1f4bc], "briefcase"),
  ([0x1f4bd], "computer_disk minidisc"), ([0x1f4be], "floppy_disk"),
  ([0x1f4bf], "cd optical_disk"), ([0x1f4c0], "dvd"), ([0x1f4c1], "file_folder"),
  ([0x1f4c2], "open_file_folder"), ([0x1f4c3], "page_with_curl"), ([0x1f4c4], "page_facing_up"),
  ([0x1f4c5], "date"), ([0x1f4c6], "calendar tear-off_calendar"), ([0x1f4c7], "card_index"),
  ([0x1f4c8], "chart_increasing chart_with_upwards_trend"),
  ([0x1f4c9], "chart_decreasing chart_with_downwards_trend"), ([0x1f4ca], "bar_chart"),
  ([0x1f4cb], "clipboard"), ([0x1f4cc], "pushpin"), ([0x1f4cd], "round_pushpin"),
  ([0x1f4ce], "paperclip"), ([0x1f4cf], "straight_ruler"), ([0x1f4d0], "triangular_ruler"),
  ([0x1f4d1], "bookmark_tabs"), ([0x1f4d2], "ledger"), ([0x1f4d3], "notebook"),
  ([0x1f4d4], "notebook_with_decorative_cover"), ([0x1f4d5], "closed_book"),
  ([0x1f4d6], "book open_book"), ([0x1f4d7], "green_book"), ([0x1f4d8], "blue_book"),
  ([0x1f4d9], "orange_book"), ([0x1f4da], "books"), ([0x1f4db], "name_badge"),
  ([0x1f4dc], "scroll"), ([0x1f4dd], "memo pencil"), ([0x1f4de], "telephone_receiver"),
  ([0x1f4df], "pager"), ([0x1f4e0], "fax fax_machine"), ([0x1f4e1], "satellite satellite_antenna"),
  ([0x1f4e2], "loudspeaker"), ([0x1f4e3], "mega megaphone"), ([0x1f4e4], "outbox_tray"),
  ([0x1f4e5], "inbox_tray"), ([0x1f4e6], "package"), ([0x1f4e7], "e-mail e__mail"),
  ([0x1f4e8], "incoming_envelope"), ([0x1f4e9], "envelope_with_arrow"),
  ([0x1f4ea], "closed_mailbox_with_lowered_flag mailbox_closed"),
  ([0x1f4eb], "closed_mailbox_with_raised_flag mailbox"),
  ([0x1f4ec], "mailbox_with_mail open_mailbox_with_raised_flag"),
  ([0x1f4ed], "mailbox_with_no_mail open_mailbox_with_lowered_flag"), ([0x1f4ee], "postbox"),
  ([0x1f4ef], "postal_horn"), ([0x1f4f0], "newspaper"), ([0x1f4f1], "iphone mobile_phone"),
  ([0x1f4f2], "calling mobile_phone_with_arrow"), ([0x1f4f3], "vibration_mode"),
  ([0x1f4f4], "mobile_phone_off"), ([0x1f4f5], "no_mobile_phones"),
  ([0x1f4f6], "antenna_bars signal_strength"), ([0x1f4f7], "camera"),
  ([0x1f4f8], "camera_with_flash"), ([0x1f4f9], "video_camera"), ([0x1f4fa], "television tv"),
  ([0x1f4fb], "radio"), ([0x1f4fc], "vhs videocassette"), ([0x1f4fd], "film_projector"),
  ([0x1f4ff], "prayer_beads"), ([0x1f500], "shuffle_tracks_button twisted_rightwards_arrows"),
  ([0x1f501], "repeat repeat_button"), ([0x1f502], "repeat_one repeat_single_button"),
  ([0x1f503], "arrows_clockwise clockwise_vertical_arrows"),
  ([0x1f504], "arrows_counterclockwise counterclockwise_arrows_button"),
  ([0x1f505], "dim_button low_brightness"), ([0x1f506], "bright_button high_brightness"),
  ([0x1f507], "mute muted_speaker"), ([0x1f508], "speaker speaker_low_volume"),
  ([0x1f509], "sound speaker_medium_volume"), ([0x1f50a], "loud_sound speaker_high_volume"),
  ([0x1f50b], "battery"), ([0x1f50c], "electric_plug"),
  ([0x1f50d], "mag magnifying_glass_tilted_left"),
  ([0x1f50e], "mag_right magnifying_glass_tilted_right"),
  ([0x1f50f], "lock_with_ink_pen locked_with_pen"),
  ([0x1f510], "closed_lock_with_key locked_with_key"), ([0x1f511], "key"),
  ([0x1f512], "lock locked"), ([0x1f513], "unlock unlocked"), ([0x1f514], "bell"),
  ([0x1f515], "bell_with_slash no_bell"), ([0x1f516], "bookmark"), ([0x1f517], "link"),
  ([0x1f518], "radio_button"), ([0x1f519], "back back_arrow"), ([0x1f51a], "end end_arrow"),
  ([0x1f51b], "on on!_arrow"), ([0x1f51c], "soon soon_arrow"), ([0x1f51d], "top top_arrow"),
  ([0x1f51e], "no_one_under_eighteen underage"), ([0x1f51f], "keycap_10 ten"),
  ([0x1f520], "capital_abcd input_latin_uppercase"), ([0x1f521], "abcd input_latin_lowercase"),
  ([0x1f522], "1234 input_numbers"), ([0x1f523], "input_symbols symbols"),
  ([0x1f524], "abc input_latin_letters"), ([0x1f525], "fire"), ([0x1f526], "flashlight"),
  ([0x1f527], "wrench"), ([0x1f528], "hammer"), ([0x1f529], "nut_and_bolt"),
  ([0x1f52a], "hocho kitchen_knife knife"), ([0x1f52b], "gun pistol"), ([0x1f52c], "microscope"),
  ([0x1f52d], "telescope"), ([0x1f52e], "crystal_ball"),
  ([0x1f52f], "dotted_six-pointed_star six_pointed_star"),
  ([0x1f530], "beginner japanese_symbol_for_beginner"), ([0x1f531], "trident trident_emblem"),
  ([0x1f532], "black_square_button"), ([0x1f533], "white_square_button"),
  ([0x1f534], "red_circle"), ([0x1f535], "blue_circle large_blue_circle"),
  ([0x1f536], "large_orange_diamond"), ([0x1f537], "large_blue_diamond"),
  ([0x1f538], "small_orange_diamond"), ([0x1f539], "small_blue_diamond"),
  ([0x1f53a], "red_triangle_pointed_up small_red_triangle"),
  ([0x1f53b], "red_triangle_pointed_down small_red_triangle_down"),
  ([0x1f53c], "arrow_up_small upwards_button"), ([0x1f53d], "arrow_down_small downwards_button"),
  ([0x1f549], "om om_symbol"), ([0x1f54a], "dove dove_of_peace"), ([0x1f54b], "kaaba"),
  ([0x1f54c], "mosque"), ([0x1f54d], "synagogue"),
  ([0x1f54e], "menorah menorah_with_nine_branches"), ([0x1f550], "clock1 one_o’clock"),
  ([0x1f551], "clock2 two_o’clock"), ([0x1f552], "clock3 three_o’clock"),
  ([0x1f553], "clock4 four_o’clock"), ([0x1f554], "clock5 five_o’clock"),
  ([0x1f555], "clock6 six_o’clock"), ([0x1f556], "clock7 seven_o’clock"),
  ([0x1f557], "clock8 eight_o’clock"), ([0x1f558], "clock9 nine_o’clock"),
  ([0x1f559], "clock10 ten_o’clock"), ([0x1f55a], "clock11 eleven_o’clock"),
  ([0x1f55b], "clock12 twelve_o’clock"), ([0x1f55c], "clock130 one-thirty"),
  ([0x1f55d], "clock230 two-thirty"), ([0x1f55e], "clock330 three-thirty"),
  ([0x1f55f], "clock430 four-thirty"), ([0x1f560], "clock530 five-thirty"),
  ([0x1f561], "clock630 six-thirty"), ([0x1f562], "clock730 seven-thirty"),
  ([0x1f563], "clock830 eight-thirty"), ([0x1f564], "clock930 nine-thirty"),
  ([0x1f565], "clock1030 ten-thirty"), ([0x1f566], "clock1130 eleven-thirty"),
  ([0x1f567], "clock1230 twelve-thirty"), ([0x1f56f], "candle"), ([0x1f570], "mantelpiece_clock"),
  ([0x1f573], "hole"), ([0x1f574], "man_in_business_suit_levitating man_in_suit_levitating"),
  ([0x1f575], "detective sleuth_or_spy"),
  ([0x1f575, 0xfe0f, 0x200d, 0x2640, 0xfe0f], "woman_detective"),
  ([0x1f575, 0xfe0f, 0x200d, 0x2642, 0xfe0f], "man_detective"), ([0x1f576], "dark_sunglasses"),
  ([0x1f577], "spider"), ([0x1f578], "spider_web"), ([0x1f579], "joystick"),
  ([0x1f57a], "man_dancing"), ([0x1f587], "linked_paperclips"),
  ([0x1f58a], "lower_left_ballpoint_pen pen"), ([0x1f58b], "fountain_pen lower_left_fountain_pen"),
  ([0x1f58c], "lower_left_paintbrush paintbrush"), ([0x1f58d], "crayon lower_left_crayon"),
  ([0x1f590], "hand_with_fingers_splayed raised_hand_with_fingers_splayed"),
  ([0x1f595], "middle_finger reversed_hand_with_middle_finger_extended"),
  ([0x1f596], "raised_hand_with_part_between_middle_and_ring_fingers vulcan_salute"),
  ([0x1f5a4], "black_heart"), ([0x1f5a5], "desktop_computer"), ([0x1f5a8], "printer"),
  ([0x1f5b1], "computer_mouse three_button_mouse"), ([0x1f5b2], "trackball"),
  ([0x1f5bc], "frame_with_picture framed_picture"), ([0x1f5c2], "card_index_dividers"),
  ([0x1f5c3], "card_file_box"), ([0x1f5c4], "file_cabinet"), ([0x1f5d1], "wastebasket"),
  ([0x1f5d2], "spiral_note_pad spiral_notepad"),
  ([0x1f5d3], "spiral_calendar spiral_calendar_pad"), ([0x1f5dc], "clamp compression"),
  ([0x1f5dd], "old_key"), ([0x1f5de], "rolled-up_newspaper rolled__up_newspaper"),
  ([0x1f5e1], "dagger dagger_knife"), ([0x1f5e3], "speaking_head speaking_head_in_silhouette"),
  ([0x1f5e8], "left_speech_bubble"), ([0x1f5ef], "right_anger_bubble"),
  ([0x1f5f3], "ballot_box_with_ballot"), ([0x1f5fa], "world_map"), ([0x1f5fb], "mount_fuji"),
  ([0x1f5fc], "tokyo_tower"), ([0x1f5fd], "statue_of_liberty"), ([0x1f5fe], "japan map_of_japan"),
  ([0x1f5ff], "moai moyai")]

/-- Faces, gestures and vehicles, by their code points. -/
def faceNames : List (List Nat × String) := [
  ([0x1f600], "grinning grinning_face"), ([0x1f601], "beaming_face_with_smiling_eyes grin"),
  ([0x1f602], "face_with_tears_of_joy joy"), ([0x1f603], "grinning_face_with_big_eyes smiley"),
  ([0x1f604], "grinning_face_with_smiling_eyes smile"),
  ([0x1f605], "grinning_face_with_sweat sweat_smile"),
  ([0x1f606], "grinning_squinting_face laughing satisfied"),
  ([0x1f607], "innocent smiling_face_with_halo"),
  ([0x1f608], "smiling_face_with_horns smiling_imp"), ([0x1f609], "wink winking_face"),
  ([0x1f60a], "blush smiling_face_with_smiling_eyes"), ([0x1f60b], "face_savoring_food yum"),
  ([0x1f60c], "relieved relieved_face"), ([0x1f60d], "heart_eyes smiling_face_with_heart-eyes"),
  ([0x1f60e], "smiling_face_with_sunglasses sunglasses"), ([0x1f60f], "smirk smirking_face"),
  ([0x1f610], "neutral_face"), ([0x1f611], "expressionless expressionless_face"),
  ([0x1f612], "unamused unamused_face"), ([0x1f613], "downcast_face_with_sweat sweat"),
  ([0x1f614], "pensive pensive_face"), ([0x1f615], "confused confused_face"),
  ([0x1f616], "confounded confounded_face"), ([0x1f617], "kissing kissing_face"),
  ([0x1f618], "face_blowing_a_kiss kissing_heart"),
  ([0x1f619], "kissing_face_with_smiling_eyes kissing_smiling_eyes"),
  ([0x1f61a], "kissing_closed_eyes kissing_face_with_closed_eyes"),
  ([0x1f61b], "face_with_tongue stuck_out_tongue"),
  ([0x1f61c], "stuck_out_tongue_winking_eye winking_face_with_tongue"),
  ([0x1f61d], "squinting_face_with_tongue stuck_out_tongue_closed_eyes"),
  ([0x1f61e], "disappointed disappointed_face"), ([0x1f61f], "worried worried_face"),
  ([0x1f620], "angry angry_face"), ([0x1f621], "pouting_face rage"),
  ([0x1f622], "cry crying_face"), ([0x1f623], "persevere persevering_face"),
  ([0x1f624], "face_with_steam_from_nose triumph"),
  ([0x1f625], "disappointed_relieved sad_but_relieved_face"),
  ([0x1f626], "frowning frowning_face_with_open_mouth"), ([0x1f627], "anguished anguished_face"),
  ([0x1f628], "fearful fearful_face"), ([0x1f629], "weary weary_face"),
  ([0x1f62a], "sleepy sleepy_face"), ([0x1f62b], "tired_face"),
  ([0x1f62c], "grimacing grimacing_face"), ([0x1f62d], "loudly_crying_face sob"),
  ([0x1f62e], "face_with_open_mouth open_mouth"), ([0x1f62f], "hushed hushed_face"),
  ([0x1f630], "anxious_face_with_sweat cold_sweat"), ([0x1f631], "face_screaming_in_fear scream"),
  ([0x1f632], "astonished astonished_face"), ([0x1f633], "flushed flushed_face"),
  ([0x1f634], "sleeping sleeping_face"), ([0x1f635], "dizzy_face"),
  ([0x1f636], "face_without_mouth no_mouth"), ([0x1f637], "face_with_medical_mask mask"),
  ([0x1f638], "grinning_cat_face_with_smiling_eyes smile_cat"),
  ([0x1f639], "cat_face_with_tears_of_joy joy_cat"), ([0x1f63a], "grinning_cat_face smiley_cat"),
  ([0x1f63b], "heart_eyes_cat smiling_cat_face_with_heart-eyes"),
  ([0x1f63c], "cat_face_with_wry_smile smirk_cat"), ([0x1f63d], "kissing_cat kissing_cat_face"),
  ([0x1f63e], "pouting_cat pouting_cat_face"), ([0x1f63f], "crying_cat_face"),
  ([0x1f640], "scream_cat weary_cat_face"), ([0x1f641], "slightly_frowning_face"),
  ([0x1f642], "slightly_smiling_face"), ([0x1f643], "upside-down_face upside__down_face"),
  ([0x1f644], "face_with_rolling_eyes"), ([0x1f645], "no_good person_gesturing_no"),
  ([0x1f645, 0x200d, 0x2640, 0xfe0f], "woman_gesturing_no"),
  ([0x1f645, 0x200d, 0x2642, 0xfe0f], "man_gesturing_no"),
  ([0x1f646], "ok_woman person_gesturing_ok"),
  ([0x1f646, 0x200d, 0x2640, 0xfe0f], "woman_gesturing_ok"),
  ([0x1f646, 0x200d, 0x2642, 0xfe0f], "man_gesturing_ok"), ([0x1f647], "bow person_bowing"),
  ([0x1f647, 0x200d, 0x2640, 0xfe0f], "woman_bowing"),
  ([0x1f647, 0x200d, 0x2642, 0xfe0f], "man_bowing"), ([0x1f648], "see-no-evil_monkey see_no_evil"),
  ([0x1f649], "hear-no-evil_monkey hear_no_evil"),
  ([0x1f64a], "speak-no-evil_monkey speak_no_evil"),
  ([0x1f64b], "person_raising_hand raising_hand"),
  ([0x1f64b, 0x200d, 0x2640, 0xfe0f], "woman_raising_hand"),
  ([0x1f64b, 0x200d, 0x2642, 0xfe0f], "man_raising_hand"),
  ([0x1f64c], "raised_hands raising_hands"), ([0x1f64d], "person_frowning"),
  ([0x1f64d, 0x200d, 0x2640, 0xfe0f], "woman_frowning"),
  ([0x1f64d, 0x200d, 0x2642, 0xfe0f], "man_frowning"),
  ([0x1f64e], "person_pouting person_with_pouting_face"),
  ([0x1f64e, 0x200d, 0x2640, 0xfe0f], "woman_pouting"),
  ([0x1f64e, 0x200d, 0x2642, 0xfe0f], "man_pouting"), ([0x1f64f], "folded_hands pray"),
  ([0x1f680], "rocket"), ([0x1f681], "helicopter"), ([0x1f682], "locomotive steam_locomotive"),
  ([0x1f683], "railway_car"), ([0x1f684], "bullettrain_side high-speed_train"),
  ([0x1f685], "bullet_train bullettrain_front"), ([0x1f686], "train2"), ([0x1f687], "metro"),
  ([0x1f688], "light_rail"), ([0x1f689], "station"), ([0x1f68a], "tram"),
  ([0x1f68b], "train tram_car"), ([0x1f68c], "bus"), ([0x1f68d], "oncoming_bus"),
  ([0x1f68e], "trolleybus"), ([0x1f68f], "bus_stop busstop"), ([0x1f690], "minibus"),
  ([0x1f691], "ambulance"), ([0x1f692], "fire_engine"), ([0x1f693], "police_car"),
  ([0x1f694], "oncoming_police_car"), ([0x1f695], "taxi"), ([0x1f696], "oncoming_taxi"),
  ([0x1f697], "automobile car red_car"), ([0x1f698], "oncoming_automobile"),
  ([0x1f699], "blue_car sport_utility_vehicle"), ([0x1f69a], "delivery_truck truck"),
  ([0x1f69b], "articulated_lorry"), ([0x1f69c], "tractor"), ([0x1f69d], "monorail"),
  ([0x1f69e], "mountain_railway"), ([0x1f69f], "suspension_railway"),
  ([0x1f6a0], "mountain_cableway"), ([0x1f6a1], "aerial_tramway"), ([0x1f6a2], "ship"),
  ([0x1f6a3], "person_rowing_boat rowboat"),
  ([0x1f6a3, 0x200d, 0x2640, 0xfe0f], "woman_rowing_boat"),
  ([0x1f6a3, 0x200d, 0x2642, 0xfe0f], "man_rowing_boat"), ([0x1f6a4], "speedboat"),
  ([0x1f6a5], "horizontal_traffic_light traffic_light"), ([0x1f6a6], "vertical_traffic_light"),
  ([0x1f6a7], "construction"), ([0x1f6a8], "police_car_light rotating_light"),
  ([0x1f6a9], "triangular_flag triangular_flag_on_post"), ([0x1f6aa], "door"),
  ([0x1f6ab], "no_entry_sign prohibited"), ([0x1f6ac], "cigarette smoking"),
  ([0x1f6ad], "no_smoking"), ([0x1f6ae], "litter_in_bin_sign put_litter_in_its_place"),
  ([0x1f6af], "do_not_litter no_littering"), ([0x1f6b0], "potable_water"),
  ([0x1f6b1], "non-potable_water non__potable_water"), ([0x1f6b2], "bicycle bike"),
  ([0x1f6b3], "no_bicycles"), ([0x1f6b4], "bicyclist person_biking"),
  ([0x1f6b4, 0x200d, 0x2640, 0xfe0f], "woman_biking"),
  ([0x1f6b4, 0x200d, 0x2642, 0xfe0f], "man_biking"),
  ([0x1f6b5], "mountain_bicyclist person_mountain_biking"),
  ([0x1f6b5, 0x200d, 0x2640, 0xfe0f], "woman_mountain_biking"),
  ([0x1f6b5, 0x200d, 0x2642, 0xfe0f], "man_mountain_biking"),
  ([0x1f6b6], "person_walking walking"), ([0x1f6b6, 0x200d, 0x2640, 0xfe0f], "woman_walking"),
  ([0x1f6b6, 0x200d, 0x2642, 0xfe0f], "man_walking"), ([0x1f6b7], "no_pedestrians"),
  ([0x1f6b8], "children_crossing"), ([0x1f6b9], "mens men’s_room"),
  ([0x1f6ba], "womens women’s_room"), ([0x1f6bb], "restroom"), ([0x1f6bc], "baby_symbol"),
  ([0x1f6bd], "toilet"), ([0x1f6be], "water_closet wc"), ([0x1f6bf], "shower"),
  ([0x1f6c0], "bath person_taking_bath"), ([0x1f6c1], "bathtub"), ([0x1f6c2], "passport_control"),
  ([0x1f6c3], "customs"), ([0x1f6c4], "baggage_claim"), ([0x1f6c5], "left_luggage"),
  ([0x1f6cb], "couch_and_lamp"), ([0x1f6cc], "person_in_bed sleeping_accommodation"),
  ([0x1f6cd], "shopping_bags"), ([0x1f6ce], "bellhop_bell"), ([0x1f6cf], "bed"),
  ([0x1f6d0], "place_of_worship"), ([0x1f6d1], "stop_sign"), ([0x1f6d2], "shopping_cart"),
  ([0x1f6d5], "hindu_temple"), ([0x1f6e0], "hammer_and_wrench"), ([0x1f6e1], "shield"),
  ([0x1f6e2], "oil_drum"), ([0x1f6e3], "motorway"), ([0x1f6e4], "railway_track"),
  ([0x1f6e5], "motor_boat"), ([0x1f6e9], "small_airplane"), ([0x1f6eb], "airplane_departure"),
  ([0x1f6ec], "airplane_arrival airplane_arriving"), ([0x1f6f3], "passenger_ship"),
  ([0x1f6f4], "kick_scooter"), ([0x1f6f5], "motor_scooter"), ([0x1f6f6], "canoe"),
  ([0x1f6f7], "sled"), ([0x1f6f8], "flying_saucer"), ([0x1f6f9], "skateboard"),
  ([0x1f6fa], "auto_rickshaw"), ([0x1f7e0], "orange_circle"), ([0x1f7e1], "yellow_circle"),
  ([0x1f7e2], "green_circle"), ([0x1f7e3], "purple_circle"), ([0x1f7e4], "brown_circle"),
  ([0x1f7e5], "red_square"), ([0x1f7e6], "blue_square"), ([0x1f7e7], "orange_square"),
  ([0x1f7e8], "yellow_square"), ([0x1f7e9], "green_square"), ([0x1f7ea], "purple_square"),
  ([0x1f7eb], "brown_square")]

/-- What was added later, by their code points. -/
def laterNames : List (List Nat × String) := [
  ([0x1f90d], "white_heart"), ([0x1f90e], "brown_heart"), ([0x1f90f], "pinching_hand"),
  ([0x1f910], "zipper-mouth_face zipper__mouth_face"),
  ([0x1f911], "money-mouth_face money__mouth_face"), ([0x1f912], "face_with_thermometer"),
  ([0x1f913], "nerd_face"), ([0x1f914], "thinking_face"),
  ([0x1f915], "face_with_head-bandage face_with_head__bandage"), ([0x1f916], "robot robot_face"),
  ([0x1f917], "hugging_face"), ([0x1f918], "sign_of_the_horns"), ([0x1f919], "call_me_hand"),
  ([0x1f91a], "raised_back_of_hand"), ([0x1f91b], "left-facing_fist"),
  ([0x1f91c], "right-facing_fist"), ([0x1f91d], "handshake"), ([0x1f91e], "crossed_fingers"),
  ([0x1f91f], "love-you_gesture"), ([0x1f920], "cowboy_hat_face"), ([0x1f921], "clown_face"),
  ([0x1f922], "nauseated_face"), ([0x1f923], "rolling_on_the_floor_laughing"),
  ([0x1f924], "drooling_face"), ([0x1f925], "lying_face"), ([0x1f926], "person_facepalming"),
  ([0x1f926, 0x200d, 0x2640, 0xfe0f], "woman_facepalming"),
  ([0x1f926, 0x200d, 0x2642, 0xfe0f], "man_facepalming"), ([0x1f927], "sneezing_face"),
  ([0x1f928], "face_with_raised_eyebrow"), ([0x1f929], "star-struck"), ([0x1f92a], "zany_face"),
  ([0x1f92b], "shushing_face"), ([0x1f92c], "face_with_symbols_on_mouth"),
  ([0x1f92d], "face_with_hand_over_mouth"), ([0x1f92e], "face_vomiting"),
  ([0x1f92f], "exploding_head"), ([0x1f930], "pregnant_woman"), ([0x1f931], "breast-feeding"),
  ([0x1f932], "palms_up_together"), ([0x1f933], "selfie"), ([0x1f934], "prince"),
  ([0x1f935], "man_in_tuxedo"), ([0x1f936], "mrs._claus"), ([0x1f937], "person_shrugging"),
  ([0x1f937, 0x200d, 0x2640, 0xfe0f], "woman_shrugging"),
  ([0x1f937, 0x200d, 0x2642, 0xfe0f], "man_shrugging"), ([0x1f938], "person_cartwheeling"),
  ([0x1f938, 0x200d, 0x2640, 0xfe0f], "woman_cartwheeling"),
  ([0x1f938, 0x200d, 0x2642, 0xfe0f], "man_cartwheeling"), ([0x1f939], "person_juggling"),
  ([0x1f939, 0x200d, 0x2640, 0xfe0f], "woman_juggling"),
  ([0x1f939, 0x200d, 0x2642, 0xfe0f], "man_juggling"), ([0x1f93a], "person_fencing"),
  ([0x1f93c], "people_wrestling"), ([0x1f93c, 0x200d, 0x2640, 0xfe0f], "women_wrestling"),
  ([0x1f93c, 0x200d, 0x2642, 0xfe0f], "men_wrestling"), ([0x1f93d], "person_playing_water_polo"),
  ([0x1f93d, 0x200d, 0x2640, 0xfe0f], "woman_playing_water_polo"),
  ([0x1f93d, 0x200d, 0x2642, 0xfe0f], "man_playing_water_polo"),
  ([0x1f93e], "person_playing_handball"),
  ([0x1f93e, 0x200d, 0x2640, 0xfe0f], "woman_playing_handball"),
  ([0x1f93e, 0x200d, 0x2642, 0xfe0f], "man_playing_handball"), ([0x1f93f], "diving_mask"),
  ([0x1f940], "wilted_flower"), ([0x1f941], "drum"), ([0x1f942], "clinking_glasses"),
  ([0x1f943], "tumbler_glass"), ([0x1f944], "spoon"), ([0x1f945], "goal_net"),
  ([0x1f947], "1st_place_medal"), ([0x1f948], "2nd_place_medal"), ([0x1f949], "3rd_place_medal"),
  ([0x1f94a], "boxing_glove"), ([0x1f94b], "martial_arts_uniform"), ([0x1f94c], "curling_stone"),
  ([0x1f94d], "lacrosse"), ([0x1f94e], "softball"), ([0x1f94f], "flying_disc"),
  ([0x1f950], "croissant"), ([0x1f951], "avocado"), ([0x1f952], "cucumber"), ([0x1f953], "bacon"),
  ([0x1f954], "potato"), ([0x1f955], "carrot"), ([0x1f956], "baguette_bread"),
  ([0x1f957], "green_salad"), ([0x1f958], "shallow_pan_of_food"), ([0x1f959], "stuffed_flatbread"),
  ([0x1f95b], "glass_of_milk"), ([0x1f95c], "peanuts"), ([0x1f95d], "kiwi_fruit"),
  ([0x1f95e], "pancakes"), ([0x1f95f], "dumpling"), ([0x1f960], "fortune_cookie"),
  ([0x1f961], "takeout_box"), ([0x1f962], "chopsticks"), ([0x1f963], "bowl_with_spoon"),
  ([0x1f964], "cup_with_straw"), ([0x1f965], "coconut"), ([0x1f966], "broccoli"),
  ([0x1f967], "pie"), ([0x1f968], "pretzel"), ([0x1f969], "cut_of_meat"), ([0x1f96a], "sandwich"),
  ([0x1f96b], "canned_food"), ([0x1f96c], "leafy_green"), ([0x1f96d], "mango"),
  ([0x1f96e], "moon_cake"), ([0x1f96f], "bagel"), ([0x1f970], "smiling_face_with_3_hearts"),
  ([0x1f971], "yawning_face"), ([0x1f973], "partying_face"), ([0x1f974], "woozy_face"),
  ([0x1f975], "hot_face"), ([0x1f976], "cold_face"), ([0x1f97a], "pleading_face"),
  ([0x1f97b], "sari"), ([0x1f97c], "lab_coat"), ([0x1f97d], "goggles"), ([0x1f97e], "hiking_boot"),
  ([0x1f97f], "flat_shoe"), ([0x1f980], "crab"), ([0x1f981], "lion_face"), ([0x1f982], "scorpion"),
  ([0x1f983], "turkey"), ([0x1f984], "unicorn_face"), ([0x1f985], "eagle"), ([0x1f986], "duck"),
  ([0x1f987], "bat"), ([0x1f988], "shark"), ([0x1f989], "owl"), ([0x1f98a], "fox_face"),
  ([0x1f98b], "butterfly"), ([0x1f98c], "deer"), ([0x1f98d], "gorilla"), ([0x1f98e], "lizard"),
  ([0x1f98f], "rhinoceros"), ([0x1f990], "shrimp"), ([0x1f991], "squid"), ([0x1f992], "giraffe"),
  ([0x1f993], "zebra"), ([0x1f994], "hedgehog"), ([0x1f995], "sauropod"), ([0x1f996], "t-rex"),
  ([0x1f997], "cricket"), ([0x1f998], "kangaroo"), ([0x1f999], "llama"), ([0x1f99a], "peacock"),
  ([0x1f99b], "hippopotamus"), ([0x1f99c], "parrot"), ([0x1f99d], "raccoon"),
  ([0x1f99e], "lobster"), ([0x1f99f], "mosquito"), ([0x1f9a0], "microbe"), ([0x1f9a1], "badger"),
  ([0x1f9a2], "swan"), ([0x1f9a5], "sloth"), ([0x1f9a6], "otter"), ([0x1f9a7], "orangutan"),
  ([0x1f9a8], "skunk"), ([0x1f9a9], "flamingo"), ([0x1f9aa], "oyster"), ([0x1f9ae], "guide_dog"),
  ([0x1f9af], "probing_cane"), ([0x1f9b0], "red_hair"), ([0x1f9b1], "curly_hair"),
  ([0x1f9b2], "bald"), ([0x1f9b3], "white_hair"), ([0x1f9b4], "bone"), ([0x1f9b5], "leg"),
  ([0x1f9b6], "foot"), ([0x1f9b7], "tooth"), ([0x1f9b8], "superhero"), ([0x1f9b9], "supervillain"),
  ([0x1f9ba], "safety_vest"), ([0x1f9bb], "ear_with_hearing_aid"),
  ([0x1f9bc], "motorized_wheelchair"), ([0x1f9bd], "manual_wheelchair"),
  ([0x1f9be], "mechanical_arm"), ([0x1f9bf], "mechanical_leg"), ([0x1f9c0], "cheese_wedge"),
  ([0x1f9c1], "cupcake"), ([0x1f9c2], "salt"), ([0x1f9c3], "beverage_box"), ([0x1f9c4], "garlic"),
  ([0x1f9c5], "onion"), ([0x1f9c6], "falafel"), ([0x1f9c7], "waffle"), ([0x1f9c8], "butter"),
  ([0x1f9c9], "mate"), ([0x1f9ca], "ice"), ([0x1f9cd], "person_standing"),
  ([0x1f9ce], "person_kneeling"), ([0x1f9cf], "deaf_person"), ([0x1f9d0], "face_with_monocle"),
  ([0x1f9d1], "adult"), ([0x1f9d1, 0x200d, 0x1f91d, 0x200d, 0x1f9d1], "people_holding_hands"),
  ([0x1f9d2], "child"), ([0x1f9d3], "older_adult"), ([0x1f9d4], "bearded_person"),
  ([0x1f9d5], "woman_with_headscarf"), ([0x1f9d6], "person_in_steamy_room"),
  ([0x1f9d6, 0x200d, 0x2640, 0xfe0f], "woman_in_steamy_room"),
  ([0x1f9d6, 0x200d, 0x2642, 0xfe0f], "man_in_steamy_room"), ([0x1f9d7], "person_climbing"),
  ([0x1f9d7, 0x200d, 0x2640, 0xfe0f], "woman_climbing"),
  ([0x1f9d7, 0x200d, 0x2642, 0xfe0f], "man_climbing"), ([0x1f9d8], "person_in_lotus_position"),
  ([0x1f9d8, 0x200d, 0x2640, 0xfe0f], "woman_in_lotus_position"),
  ([0x1f9d8, 0x200d, 0x2642, 0xfe0f], "man_in_lotus_position"), ([0x1f9d9], "mage"),
  ([0x1f9d9, 0x200d, 0x2640, 0xfe0f], "woman_mage"),
  ([0x1f9d9, 0x200d, 0x2642, 0xfe0f], "man_mage"), ([0x1f9da], "fairy"),
  ([0x1f9da, 0x200d, 0x2640, 0xfe0f], "woman_fairy"),
  ([0x1f9da, 0x200d, 0x2642, 0xfe0f], "man_fairy"), ([0x1f9db], "vampire"),
  ([0x1f9db, 0x200d, 0x2640, 0xfe0f], "woman_vampire"),
  ([0x1f9db, 0x200d, 0x2642, 0xfe0f], "man_vampire"), ([0x1f9dc], "merperson"),
  ([0x1f9dc, 0x200d, 0x2640, 0xfe0f], "mermaid"), ([0x1f9dc, 0x200d, 0x2642, 0xfe0f], "merman"),
  ([0x1f9dd], "elf"), ([0x1f9dd, 0x200d, 0x2640, 0xfe0f], "woman_elf"),
  ([0x1f9dd, 0x200d, 0x2642, 0xfe0f], "man_elf"), ([0x1f9de], "genie"),
  ([0x1f9de, 0x200d, 0x2640, 0xfe0f], "woman_genie"),
  ([0x1f9de, 0x200d, 0x2642, 0xfe0f], "man_genie"), ([0x1f9df], "zombie"),
  ([0x1f9df, 0x200d, 0x2640, 0xfe0f], "woman_zombie"),
  ([0x1f9df, 0x200d, 0x2642, 0xfe0f], "man_zombie"), ([0x1f9e0], "brain"),
  ([0x1f9e1], "orange_heart"), ([0x1f9e2], "billed_cap"), ([0x1f9e3], "scarf"),
  ([0x1f9e4], "gloves"), ([0x1f9e5], "coat"), ([0x1f9e6], "socks"), ([0x1f9e7], "red_envelope"),
  ([0x1f9e8], "firecracker"), ([0x1f9e9], "jigsaw"), ([0x1f9ea], "test_tube"),
  ([0x1f9eb], "petri_dish"), ([0x1f9ec], "dna"), ([0x1f9ed], "compass"), ([0x1f9ee], "abacus"),
  ([0x1f9ef], "fire_extinguisher"), ([0x1f9f0], "toolbox"), ([0x1f9f1], "brick"),
  ([0x1f9f2], "magnet"), ([0x1f9f3], "luggage"), ([0x1f9f4], "lotion_bottle"),
  ([0x1f9f5], "thread"), ([0x1f9f6], "yarn"), ([0x1f9f7], "safety_pin"), ([0x1f9f8], "teddy_bear"),
  ([0x1f9f9], "broom"), ([0x1f9fa], "basket"), ([0x1f9fb], "roll_of_paper"), ([0x1f9fc], "soap"),
  ([0x1f9fd], "sponge"), ([0x1f9fe], "receipt"), ([0x1f9ff], "nazar_amulet"),
  ([0x1fa70], "ballet_shoes"), ([0x1fa71], "one-piece_swimsuit"), ([0x1fa72], "briefs"),
  ([0x1fa73], "shorts"), ([0x1fa78], "drop_of_blood"), ([0x1fa79], "adhesive_bandage"),
  ([0x1fa7a], "stethoscope"), ([0x1fa80], "yo-yo"), ([0x1fa81], "kite"),
  ([0x1fa90], "ringed_planet"), ([0x1fa91], "chair"), ([0x1fa92], "razor"), ([0x1fa93], "axe"),
  ([0x1fa94], "diya_lamp"), ([0x1fa95], "banjo")]

/-- The regions that have flags, with their names. -/
def regionNames : List (String × String) := [
  ("ac", "ascension_island"), ("ad", "andorra"), ("ae", "united_arab_emirates"),
  ("af", "afghanistan"), ("ag", "antigua_&_barbuda"), ("ai", "anguilla"), ("al", "albania"),
  ("am", "armenia"), ("ao", "angola"), ("aq", "antarctica"), ("ar", "argentina"),
  ("as", "american_samoa"), ("at", "austria"), ("au", "australia"), ("aw", "aruba"),
  ("ax", "åland_islands"), ("az", "azerbaijan"), ("ba", "bosnia_&_herzegovina"),
  ("bb", "barbados"), ("bd", "bangladesh"), ("be", "belgium"), ("bf", "burkina_faso"),
  ("bg", "bulgaria"), ("bh", "bahrain"), ("bi", "burundi"), ("bj", "benin"),
  ("bl", "st._barthélemy"), ("bm", "bermuda"), ("bn", "brunei"), ("bo", "bolivia"),
  ("bq", "caribbean_netherlands"), ("br", "brazil"), ("bs", "bahamas"), ("bt", "bhutan"),
  ("bv", "bouvet_island"), ("bw", "botswana"), ("by", "belarus"), ("bz", "belize"),
  ("ca", "canada"), ("cf", "central_african_republic"), ("ch", "switzerland"),
  ("ci", "côte_d’ivoire"), ("ck", "cook_islands"), ("cl", "chile"), ("cm", "cameroon"),
  ("cn", "china"), ("co", "colombia"), ("cp", "clipperton_island"), ("cr", "costa_rica"),
  ("cu", "cuba"), ("cv", "cape_verde"), ("cw", "curaçao"), ("cx", "christmas_island"),
  ("cy", "cyprus"), ("de", "germany"), ("dg", "diego_garcia"), ("dj", "djibouti"),
  ("dk", "denmark"), ("dm", "dominica"), ("do", "dominican_republic"), ("dz", "algeria"),
  ("ea", "ceuta_&_melilla"), ("ec", "ecuador"), ("ee", "estonia"), ("eg", "egypt"),
  ("eh", "western_sahara"), ("er", "eritrea"), ("es", "spain"), ("et", "ethiopia"),
  ("eu", "european_union"), ("fi", "finland"), ("fj", "fiji"), ("fk", "falkland_islands"),
  ("fm", "micronesia"), ("fo", "faroe_islands"), ("fr", "france"), ("ga", "gabon"),
  ("gb", "united_kingdom"), ("gd", "grenada"), ("ge", "georgia"), ("gf", "french_guiana"),
  ("gg", "guernsey"), ("gh", "ghana"), ("gi", "gibraltar"), ("gl", "greenland"), ("gm", "gambia"),
  ("gn", "guinea"), ("gp", "guadeloupe"), ("gq", "equatorial_guinea"), ("gr", "greece"),
  ("gs", "south_georgia_&_south_sandwich_islands"), ("gt", "guatemala"), ("gu", "guam"),
  ("gy", "guyana"), ("hm", "heard_&_mcdonald_islands"), ("hn", "honduras"), ("hr", "croatia"),
  ("ht", "haiti"), ("hu", "hungary"), ("ic", "canary_islands"), ("id", "indonesia"),
  ("ie", "ireland"), ("il", "israel"), ("im", "isle_of_man"), ("in", "india"),
  ("io", "british_indian_ocean_territory"), ("iq", "iraq"), ("ir", "iran"), ("is", "iceland"),
  ("it", "italy"), ("je", "jersey"), ("jm", "jamaica"), ("jo", "jordan"), ("ke", "kenya"),
  ("kg", "kyrgyzstan"), ("kh", "cambodia"), ("ki", "kiribati"), ("km", "comoros"),
  ("kn", "st._kitts_&_nevis"), ("kp", "north_korea"), ("kr", "south_korea"), ("kw", "kuwait"),
  ("ky", "cayman_islands"), ("kz", "kazakhstan"), ("la", "laos"), ("lb", "lebanon"),
  ("lc", "st._lucia"), ("li", "liechtenstein"), ("lk", "sri_lanka"), ("lr", "liberia"),
  ("ls", "lesotho"), ("lt", "lithuania"), ("lu", "luxembourg"), ("lv", "latvia"), ("ly", "libya"),
  ("ma", "morocco"), ("mc", "monaco"), ("md", "moldova"), ("me", "montenegro"),
  ("mf", "st._martin"), ("mg", "madagascar"), ("mh", "marshall_islands"), ("mk", "macedonia"),
  ("ml", "mali"), ("mn", "mongolia"), ("mp", "northern_mariana_islands"), ("mq", "martinique"),
  ("mr", "mauritania"), ("ms", "montserrat"), ("mt", "malta"), ("mu", "mauritius"),
  ("mv", "maldives"), ("mw", "malawi"), ("mx", "mexico"), ("my", "malaysia"), ("mz", "mozambique"),
  ("na", "namibia"), ("nc", "new_caledonia"), ("ne", "niger"), ("nf", "norfolk_island"),
  ("ng", "nigeria"), ("ni", "nicaragua"), ("nl", "netherlands"), ("no", "norway"), ("np", "nepal"),
  ("nr", "nauru"), ("nu", "niue"), ("nz", "new_zealand"), ("om", "oman"), ("pa", "panama"),
  ("pe", "peru"), ("pf", "french_polynesia"), ("pg", "papua_new_guinea"), ("ph", "philippines"),
  ("pk", "pakistan"), ("pl", "poland"), ("pm", "st._pierre_&_miquelon"),
  ("pn", "pitcairn_islands"), ("pr", "puerto_rico"), ("ps", "palestinian_territories"),
  ("pt", "portugal"), ("pw", "palau"), ("py", "paraguay"), ("qa", "qatar"), ("re", "réunion"),
  ("ro", "romania"), ("rs", "serbia"), ("ru", "russia"), ("rw", "rwanda"), ("sa", "saudi_arabia"),
  ("sb", "solomon_islands"), ("sc", "seychelles"), ("sd", "sudan"), ("se", "sweden"),
  ("sg", "singapore"), ("sh", "st._helena"), ("si", "slovenia"), ("sj", "svalbard_&_jan_mayen"),
  ("sk", "slovakia"), ("sl", "sierra_leone"), ("sm", "san_marino"), ("sn", "senegal"),
  ("so", "somalia"), ("sr", "suriname"), ("ss", "south_sudan"), ("st", "são_tomé_&_príncipe"),
  ("sv", "el_salvador"), ("sx", "sint_maarten"), ("sy", "syria"), ("sz", "swaziland"),
  ("ta", "tristan_da_cunha"), ("tc", "turks_&_caicos_islands"), ("td", "chad"),
  ("tf", "french_southern_territories"), ("tg", "togo"), ("th", "thailand"), ("tj", "tajikistan"),
  ("tk", "tokelau"), ("tm", "turkmenistan"), ("tn", "tunisia"), ("to", "tonga"),
  ("tt", "trinidad_&_tobago"), ("tv", "tuvalu"), ("tw", "taiwan"), ("tz", "tanzania"),
  ("ua", "ukraine"), ("ug", "uganda"), ("um", "u.s._outlying_islands"), ("us", "united_states"),
  ("uy", "uruguay"), ("uz", "uzbekistan"), ("va", "vatican_city"),
  ("vc", "st._vincent_&_grenadines"), ("ve", "venezuela"), ("vg", "british_virgin_islands"),
  ("vi", "u.s._virgin_islands"), ("vn", "vietnam"), ("vu", "vanuatu"), ("wf", "wallis_&_futuna"),
  ("ws", "samoa"), ("xk", "kosovo"), ("ye", "yemen"), ("yt", "mayotte"), ("za", "south_africa"),
  ("zm", "zambia"), ("zw", "zimbabwe")]

/-- The names of the pictures that come in skin tones. -/
def tonedNames : List String := [
  "adult", "baby", "baby_angel", "backhand_index_pointing_down", "backhand_index_pointing_left",
  "backhand_index_pointing_right", "backhand_index_pointing_up", "bearded_person",
  "blond-haired_man", "blond-haired_person", "blond-haired_woman", "boy", "breast-feeding",
  "bride_with_veil", "call_me_hand", "child", "clapping_hands", "construction_worker",
  "crossed_fingers", "detective", "ear", "elf", "fairy", "flexed_biceps", "folded_hands", "girl",
  "guard", "hand_with_fingers_splayed", "horse_racing", "index_pointing_up", "left-facing_fist",
  "love-you_gesture", "mage", "man", "man_artist", "man_astronaut", "man_biking",
  "man_bouncing_ball", "man_bowing", "man_cartwheeling", "man_climbing", "man_construction_worker",
  "man_cook", "man_dancing", "man_detective", "man_elf", "man_facepalming", "man_factory_worker",
  "man_fairy", "man_farmer", "man_firefighter", "man_frowning", "man_gesturing_no",
  "man_gesturing_ok", "man_getting_haircut", "man_getting_massage", "man_golfing", "man_guard",
  "man_health_worker", "man_in_lotus_position", "man_in_steamy_room", "man_in_suit_levitating",
  "man_in_tuxedo", "man_judge", "man_juggling", "man_lifting_weights", "man_mage", "man_mechanic",
  "man_mountain_biking", "man_office_worker", "man_pilot", "man_playing_handball",
  "man_playing_water_polo", "man_police_officer", "man_pouting", "man_raising_hand",
  "man_rowing_boat", "man_running", "man_scientist", "man_shrugging", "man_singer", "man_student",
  "man_surfing", "man_swimming", "man_teacher", "man_technologist", "man_tipping_hand",
  "man_vampire", "man_walking", "man_wearing_turban", "man_with_chinese_cap", "mermaid", "merman",
  "merperson", "middle_finger", "mrs._claus", "nail_polish", "nose", "ok_hand", "old_man",
  "old_woman", "older_adult", "oncoming_fist", "open_hands", "palms_up_together", "person_biking",
  "person_bouncing_ball", "person_bowing", "person_cartwheeling", "person_climbing",
  "person_facepalming", "person_frowning", "person_gesturing_no", "person_gesturing_ok",
  "person_getting_haircut", "person_getting_massage", "person_golfing", "person_in_bed",
  "person_in_lotus_position", "person_in_steamy_room", "person_juggling", "person_lifting_weights",
  "person_mountain_biking", "person_playing_handball", "person_playing_water_polo",
  "person_pouting", "person_raising_hand", "person_rowing_boat", "person_running",
  "person_shrugging", "person_surfing", "person_swimming", "person_taking_bath",
  "person_tipping_hand", "person_walking", "person_wearing_turban", "police_officer",
  "pregnant_woman", "prince", "princess", "raised_back_of_hand", "raised_fist", "raised_hand",
  "raising_hands", "right-facing_fist", "santa_claus", "selfie", "sign_of_the_horns",
  "snowboarder", "thumbs_down", "thumbs_up", "vampire", "victory_hand", "vulcan_salute",
  "waving_hand", "woman", "woman_artist", "woman_astronaut", "woman_biking", "woman_bouncing_ball",
  "woman_bowing", "woman_cartwheeling", "woman_climbing", "woman_construction_worker",
  "woman_cook", "woman_dancing", "woman_detective", "woman_elf", "woman_facepalming",
  "woman_factory_worker", "woman_fairy", "woman_farmer", "woman_firefighter", "woman_frowning",
  "woman_gesturing_no", "woman_gesturing_ok", "woman_getting_haircut", "woman_getting_massage",
  "woman_golfing", "woman_guard", "woman_health_worker", "woman_in_lotus_position",
  "woman_in_steamy_room", "woman_judge", "woman_juggling", "woman_lifting_weights", "woman_mage",
  "woman_mechanic", "woman_mountain_biking", "woman_office_worker", "woman_pilot",
  "woman_playing_handball", "woman_playing_water_polo", "woman_police_officer", "woman_pouting",
  "woman_raising_hand", "woman_rowing_boat", "woman_running", "woman_scientist", "woman_shrugging",
  "woman_singer", "woman_student", "woman_surfing", "woman_swimming", "woman_teacher",
  "woman_technologist", "woman_tipping_hand", "woman_vampire", "woman_walking",
  "woman_wearing_turban", "woman_with_headscarf", "writing_hand"]

end Picture

end QueryTyping.Terminal
